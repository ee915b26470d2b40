import PiAutopilot.Authority.RunInvariant

set_option autoImplicit false

namespace PiAutopilot.Authority

open Lib Protocol

def outputAcceptedIn : IndexValue → Bool
  | .work work => work.acceptedOutput.isSome
  | _ => false

variable (counter : CounterName)

def openFindingCounted : IndexValue → Bool
  | .finding entry => entry.status = .open ∧ findingCounter entry.finding = some counter
  | _ => false

-- The index a counter is about and the entries of it that it counts.
def countedIndex : CounterName → IndexName
  | .declaredAtoms => .atoms
  | .dispositionedAtoms => .dispositions
  | .declaredWork | .acceptedWork => .work
  | .openBlockingFindings | .openAdvisoryFindings => .findings
  | .observedEvidence => .evidence

def countedEntry : CounterName → IndexValue → Bool
  | .declaredAtoms, _ | .dispositionedAtoms, _ | .declaredWork, _ | .observedEvidence, _ => true
  | .acceptedWork, value => outputAcceptedIn value
  | .openBlockingFindings, value => openFindingCounted .openBlockingFindings value
  | .openAdvisoryFindings, value => openFindingCounted .openAdvisoryFindings value

noncomputable def tally (contents : Contents) (counter : CounterName) : Nat :=
  countWhere (countedEntry counter) (contents (countedIndex counter))

-- What a value stored in an index contributes to a counter.
def weight (name : IndexName) (value : Option IndexValue) : Nat :=
  if name = countedIndex counter ∧ value.any (countedEntry counter) then 1 else 0

theorem tally_put (contents : Contents) (counter : CounterName) (name : IndexName) (key : Key) (value : IndexValue) :
    tally (put contents name key value) counter + weight counter name (contents name key) =
      tally contents counter + weight counter name (some value) := by
  rw [tally, tally]
  by_cases same : name = countedIndex counter
  · subst same
    have updated := count_where_update (countedEntry counter) (contents (countedIndex counter)) key (some value)
    simpa [weight] using updated
  · rw [put_other (Ne.symm same)]
    simp [weight, same]

def Tallied (counters : RunCounters) (contents : Contents) : Prop := ∀ counter, (counters counter).value = tally contents counter

structure CountersAgree (state : RunState) (contents : Contents) : Prop where
  tallied : Tallied state.counters contents
  submissions : mapCount (contents .submissions) = tally contents .acceptedWork

@[simp] theorem increment_counter_value (state : RunState) (name counter : CounterName) :
    ((incrementCounter state name).counters counter).value = (state.counters counter).value + (if counter = name then 1 else 0) := by
  by_cases same : counter = name
  · subst same
    simp [incrementCounter, increment_value]
  · simp [incrementCounter, same]

variable {state after : RunState} {value : IndexValue} {name : IndexName} {contents : Contents} {key : Key}

theorem decrement_counter_value {name : CounterName} (decremented : decrementCounter state name = some after)
    (counter : CounterName) : (after.counters counter).value + (if counter = name then 1 else 0) = (state.counters counter).value := by
  rw [decrementCounter, decrement_value] at decremented
  split at decremented
  · cases decremented
  · rename_i positive
    cases decremented
    by_cases same : counter = name
    · subst same
      simp [value_of_nat]
      omega
    · simp [same]

theorem weight_none (name : IndexName) : weight counter name none = 0 := by
  simp [weight]

theorem weight_atom : weight counter .atoms (some value) = if counter = .declaredAtoms then 1 else 0 := by
  cases counter <;> rfl

theorem weight_disposition : weight counter .dispositions (some value) = if counter = .dispositionedAtoms then 1 else 0 := by
  cases counter <;> rfl

theorem weight_evidence : weight counter .evidence (some value) = if counter = .observedEvidence then 1 else 0 := by
  cases counter <;> rfl

theorem weight_work (work : WorkIndexValue) : weight counter .work (some (.work work)) = (if counter = .declaredWork then 1 else 0) +
      (if counter = .acceptedWork ∧ work.acceptedOutput.isSome then 1 else 0) := by
  cases counter <;> simp [weight, countedIndex, countedEntry, outputAcceptedIn]

theorem weight_finding (entry : FindingIndexValue) : weight counter .findings (some (.finding entry)) =
      if entry.status = .open ∧ findingCounter entry.finding = some counter then 1 else 0 := by
  rcases entry with ⟨correction, finding, resolution, status⟩
  cases counter <;> cases finding <;> cases status <;> rfl

def countedIndexes : List IndexName := [.atoms, .dispositions, .work, .findings, .evidence]

theorem weight_uncounted (uncounted : name ∉ countedIndexes) (counter : CounterName)
    (value : Option IndexValue) : weight counter name value = 0 := by
  have different : name ≠ countedIndex counter := by
    intro same
    subst same
    cases counter <;> simp [countedIndex, countedIndexes] at uncounted
  simp [weight, different]

theorem tallied_put {counters after : RunCounters} (tallied : Tallied counters contents)
    (moved : ∀ counter, (after counter).value + weight counter name (contents name key) =
      (counters counter).value + weight counter name (some value)) : Tallied after (put contents name key value) := by
  intro counter
  have updated := tally_put contents counter name key value
  have before := tallied counter
  have change := moved counter
  omega

theorem tallied_put_uncounted {counters : RunCounters} (tallied : Tallied counters contents) (uncounted : name ∉ countedIndexes) :
    Tallied counters (put contents name key value) := by
  apply tallied_put tallied
  intro counter
  rw [weight_uncounted uncounted, weight_uncounted uncounted]

theorem submissions_put (submissions : mapCount (contents .submissions) = tally contents .acceptedWork) (other : name ≠ .submissions)
    (same : weight .acceptedWork name (contents name key) = weight .acceptedWork name (some value)) :
    mapCount (put contents name key value .submissions) = tally (put contents name key value) .acceptedWork := by
  have updated := tally_put contents .acceptedWork name key value
  rw [put_other (Ne.symm other)]
  omega

theorem agree_put_uncounted (agree : CountersAgree state contents)
    (same : after.counters = state.counters) (uncounted : name ∉ .submissions :: countedIndexes) : CountersAgree after (put contents name key value) where
  tallied := by
    rw [same]
    exact tallied_put_uncounted agree.tallied (List.not_mem_of_not_mem_cons uncounted)
  submissions := by
    apply submissions_put agree.submissions (List.ne_of_not_mem_cons uncounted)
    rw [weight_uncounted (List.not_mem_of_not_mem_cons uncounted), weight_uncounted (List.not_mem_of_not_mem_cons uncounted)]

theorem agree_put (agree : CountersAgree state contents) (other : name ≠ .submissions) (key : Key) (value : IndexValue)
    (moved : ∀ counter, (after.counters counter).value + weight counter name (contents name key) =
      (state.counters counter).value + weight counter name (some value))
    (same : weight .acceptedWork name (contents name key) = weight .acceptedWork name (some value)) :
    CountersAgree after (put contents name key value) :=
  ⟨tallied_put agree.tallied moved, submissions_put agree.submissions other same⟩

section Steps

variable [Hashing]

-- Inserting an entry that one counter counts, together with the increment of that counter.
theorem agree_insert_counted {state : RunState} {contents : Contents} (agree : CountersAgree state contents) (name : IndexName)
    {counter : CounterName} (other : name ≠ .submissions) (notAccepted : counter ≠ .acceptedWork) (identity : JsString)
    (value : IndexValue) (absent : contents name (indexKey name identity) = none)
    (weighs : ∀ counter', weight counter' name (some value) = if counter' = counter then 1 else 0) :
    CountersAgree (incrementCounter (insertAt state contents name identity value) counter) (putAt contents name identity value) := by
  apply agree_put agree other
  · intro counter'
    rw [absent, weight_none, weighs, increment_counter_value]
    rfl
  · rw [absent, weight_none, weighs, if_neg (Ne.symm notAccepted)]

omit [Hashing] in
theorem weight_pending_work (counter : CounterName) (workItem : WorkItem) :
    weight counter .work (some (.work ⟨none, workItem⟩)) = if counter = .declaredWork then 1 else 0 := by
  simp [weight_work]

theorem agree_note_finding {state : RunState} {contents : Contents} (agree : CountersAgree state contents) {finding : Finding}
    {correction : Option WorkItemId} (absent : contents .findings (indexKey .findings finding.findingId.text) = none) :
    CountersAgree (noteFinding finding (insertAt state contents .findings finding.findingId.text (openFinding finding correction)))
      (putAt contents .findings finding.findingId.text (openFinding finding correction)) := by
  apply agree_put agree (by decide)
  · intro counter
    rw [absent, weight_none, openFinding, weight_finding]
    cases finding with
    | planningGap gap => rfl
    | integrity finding => simp [noteFinding, findingCounter, insertAt, writeIndex, eq_comm]
    | definitionOfDone finding => simp [noteFinding, findingCounter, insertAt, writeIndex, eq_comm]
    | advisory finding => simp [noteFinding, findingCounter, insertAt, writeIndex, eq_comm]
  · rw [absent]
    rfl

theorem agree_clear_finding {state after : RunState} {contents : Contents} (agree : CountersAgree state contents)
    {findingId : FindingId} {prior : FindingIndexValue} {resolution : ArtifactRef}
    (stored : contents .findings (indexKey .findings findingId.text) = some (.finding prior)) (isOpen : prior.status = .open)
    (uncounted : FindingUncounted prior.finding
      (insertAt state contents .findings findingId.text (clearedFinding prior resolution)) after) :
    CountersAgree after (putAt contents .findings findingId.text (clearedFinding prior resolution)) := by
  apply agree_put agree (by decide)
  · intro counter
    rw [stored, weight_finding, clearedFinding, weight_finding]
    rw [FindingUncounted] at uncounted
    cases noted : findingCounter prior.finding with
    | none =>
      rw [noted] at uncounted
      subst uncounted
      simp [insertAt, writeIndex]
    | some name =>
      rw [noted] at uncounted
      have decremented := decrement_counter_value uncounted counter
      simp only [isOpen, true_and, Option.some_inj, reduceCtorEq, false_and, if_false, Nat.add_zero, eq_comm (a := name)]
      exact decremented
  · rw [stored]
    rfl

omit [Hashing] in
theorem submissions_insert (contents : Contents) (key : Key) (value : IndexValue) (absent : contents .submissions key = none)
    (ahead : mapCount (contents .submissions) + 1 = tally contents .acceptedWork) :
    mapCount (put contents .submissions key value .submissions) = tally (put contents .submissions key value) .acceptedWork := by
  have tallied := tally_put contents .acceptedWork .submissions key value
  have inserted := map_count_update (contents .submissions) key (some value)
  rw [weight_uncounted (by decide), weight_uncounted (by decide)] at tallied
  rw [absent] at inserted
  simp only [Option.isSome_none, Option.isSome_some, Bool.false_eq_true, if_false, if_true] at inserted
  rw [put_same]
  omega

theorem agree_accept_output {state : RunState} {contents : Contents} (agree : CountersAgree state contents) {runId : RunId}
    {fact : WorkOutputAccepted} {prior : WorkIndexValue} (stored : StoredWork contents fact.workItemId prior)
    (pending : prior.acceptedOutput = none)
    (absent : contents .submissions (indexKey .submissions fact.submissionId.text) = none) :
    CountersAgree (incrementCounter (insertAt (insertAt state contents .work fact.workItemId.text (acceptedWorkValue prior fact))
          (putAt contents .work fact.workItemId.text (acceptedWorkValue prior fact)) .submissions fact.submissionId.text
          (submissionValue runId fact)) .acceptedWork)
      (putAt (putAt contents .work fact.workItemId.text (acceptedWorkValue prior fact)) .submissions fact.submissionId.text
        (submissionValue runId fact)) := by
  have before : weight .acceptedWork .work (contents .work (indexKey .work fact.workItemId.text)) = 0 := by
    rw [stored, weight_work]
    simp [pending]
  constructor
  · apply tallied_put_uncounted _ (by decide)
    apply tallied_put agree.tallied
    intro counter
    rw [stored, weight_work, acceptedWorkValue, weight_work]
    simp [pending, insertAt, writeIndex]
    omega
  · apply submissions_insert (putAt contents .work _ _) _ _ absent
    have accepted := tally_put contents .acceptedWork .work (indexKey .work fact.workItemId.text) (acceptedWorkValue prior fact)
    have after : weight .acceptedWork .work (some (acceptedWorkValue prior fact)) = 1 := by
      rfl
    rw [before, ← agree.submissions] at accepted
    exact accepted.symm

theorem agree_fact_step {state after : RunState} {contents maps : Contents} {runId : RunId} {body : FactBody}
    (step : FactStep state contents runId body after maps) (agree : CountersAgree state contents) : CountersAgree after maps := by
  cases step with
  | requirementsBound => exact ⟨agree.tallied, agree.submissions⟩
  | atomDeclared atom _ _ _ _ absent =>
    exact agree_insert_counted agree .atoms (by decide) (by decide) _ _ absent fun _ => weight_atom _
  | atomInventorySealed => exact ⟨agree.tallied, agree.submissions⟩
  | atomDispositioned disposition _ _ _ _ _ _ _ _ _ _ absent =>
    exact agree_insert_counted agree .dispositions (by decide) (by decide) _ _ absent fun _ => weight_disposition _
  | workDeclared workItem _ _ _ absent =>
    exact agree_insert_counted agree .work (by decide) (by decide) _ _ absent fun _ => weight_pending_work _ _
  | dependencyDeclared => exact agree_put_uncounted agree (by rfl) (by decide)
  | workOutputAccepted fact _ prior stored _ pending absent => exact agree_accept_output agree stored pending absent
  | planRootAccepted => exact agree_put_uncounted agree (by rfl) (by decide)
  | planRootSuperseded => exact agree_put_uncounted agree (by rfl) (by decide)
  | blockingFindingAccepted correction finding _ _ _ _ _ _ _ _ workAbsent findingAbsent =>
    have declared := agree_insert_counted agree .work (by decide) (by decide) _ (correctionValue correction) workAbsent
      fun _ => weight_pending_work _ _
    apply agree_note_finding declared
    exact findingAbsent
  | nonblockingFindingAccepted finding _ _ _ absent => exact agree_note_finding agree absent
  | findingCleared fact prior stored isOpen _ uncounted =>
    exact agree_clear_finding agree stored isOpen uncounted
  | evidenceObserved evidence _ _ absent =>
    exact agree_insert_counted agree .evidence (by decide) (by decide) _ _ absent fun _ => weight_evidence _
  | routeVerificationObserved => exact agree
  | candidateAccepted => exact agree_put_uncounted agree (by rfl) (by decide)
  | publicationIntended => exact agree_put_uncounted agree (by rfl) (by decide)
  | publicationObserved => exact agree_put_uncounted agree (by rfl) (by decide)
  | finalAttestationsRecorded => exact ⟨agree.tallied, agree.submissions⟩

theorem counters_preserved : Preserved CountersAgree where
  fact _ _ _ _ _ _ agree step := agree_fact_step step agree
  issue _ _ _ agree _ := agree_put_uncounted agree (by rfl) (by decide)
  settle _ _ _ _ _ agree _ _ _ := agree_put_uncounted agree (by rfl) (by decide)
  act _ _ _ _ _ agree _ := agree_put_uncounted agree (by rfl) (by decide)
  envelope _ _ _ _ _ agree := ⟨agree.tallied, agree.submissions⟩

theorem initial_counters_agree {genesis : RunGenesis} : CountersAgree (initialState genesis) fun _ _ => none where
  tallied counter := by
    rw [tally, count_where_empty, initialState, value_of_nat]
  submissions := by
    rw [mapCount, tally, count_where_empty, count_where_empty]

end Steps

end PiAutopilot.Authority
