import PiAutopilot.Authority.RunInvariant
import PiAutopilot.Authority.SampleRun

set_option autoImplicit false

namespace PiAutopilot.Authority

open Lib Protocol

def issuedIn : JournalRecord → List Command
  | .decisionCommitted record => record.commands
  | .commandSettled record => record.commands
  | _ => []

def settledIn : JournalRecord → Option CommandId
  | .commandSettled record => some record.commandId
  | _ => none

def isLifecycle : JournalRecord → Bool
  | .runSuspended _ | .runResumed _ => true
  | _ => false

-- The suspension left pending by a log whose suspensions and resumptions alternate.
inductive Alternates : List JournalRecord → Option RunSuspended → Prop where
  | start : Alternates [] none
  | suspend (record : RunSuspended) {log : List JournalRecord} (before : Alternates log none) :
      Alternates (log ++ [.runSuspended record]) (some record)
  | resume (record : RunResumed) {log : List JournalRecord} {suspension : RunSuspended} (before : Alternates log (some suspension))
      (sameRequest : record.operatorRequestId = suspension.operatorRequestId)
      (sameSequence : record.resumeFromSequence = suspension.sequence) : Alternates (log ++ [.runResumed record]) none
  | other (record : JournalRecord) {log : List JournalRecord} {pending : Option RunSuspended} (before : Alternates log pending)
      (semantic : isLifecycle record = false) : Alternates (log ++ [record]) pending

theorem filter_map_singleton {α β : Type} (f : α → Option β) (item : α) : [item].filterMap f = (f item).toList := by
  cases applied : f item with
  | none => simp [applied]
  | some value => simp [applied]

-- Every settlement names a command that an earlier record issued, under that command's action.
def SettlesIssued (log : List JournalRecord) : Prop :=
  ∀ position record commandId, log[position]? = some record → settledIn record = some commandId →
    ∃ command ∈ (log.take position).flatMap issuedIn, command.commandId = commandId ∧ record.actionId = some command.actionId

theorem settles_issued_snoc {log : List JournalRecord} {record : JournalRecord} (settles : SettlesIssued log)
    (last : ∀ commandId, settledIn record = some commandId →
      ∃ command ∈ log.flatMap issuedIn, command.commandId = commandId ∧ record.actionId = some command.actionId) :
    SettlesIssued (log ++ [record]) := by
  intro position found commandId lookup settled
  by_cases inside : position < log.length
  · rw [List.getElem?_append_left inside] at lookup
    rw [List.take_append_of_le_length (Nat.le_of_lt inside)]
    exact settles position found commandId lookup settled
  · rw [List.getElem?_append_right (Nat.le_of_not_lt inside)] at lookup
    obtain ⟨bound, rfl⟩ := List.getElem?_eq_some_iff.mp lookup
    rw [List.length_singleton] at bound
    obtain rfl : position = log.length := by omega
    rw [List.take_left]
    simp only [List.getElem_singleton] at settled ⊢
    exact last commandId settled

def successors (first : DecimalNatural) (count : Nat) : List DecimalNatural :=
  (List.range count).map fun position => incrementDecimalNatural^[position + 1] first

def Pending : SuspensionState → Option RunSuspended → Prop
  | .active, pending => pending = none
  | .suspended suspension, pending => ∃ record, pending = some record ∧
      record.operatorRequestId = suspension.operatorRequestId ∧ record.sequence = suspension.sequence

section Ledger

variable [Hashing]

-- What the commands index knows about the commands issued and settled so far.
structure CommandLedger (issued : List Command) (settled : List CommandId) (entries : Key → Option IndexValue) : Prop where
  stored : ∀ command ∈ issued, entries (indexKey .commands command.commandId.text) ≠ none
  origin : ∀ key entry, entries key = some (.command entry) → entry.command ∈ issued
  distinct : (issued.map Command.commandId).Nodup
  closed : ∀ commandId ∈ settled, ∃ entry, entries (indexKey .commands commandId.text) = some (.command entry) ∧
    entry.status = .settled
  once : settled.Nodup

theorem empty_ledger : CommandLedger [] [] fun _ => none where
  stored := by simp
  origin := by simp
  distinct := List.nodup_nil
  closed := by simp
  once := List.nodup_nil

variable {issued : List Command} {settled : List CommandId}
  {entries : Key → Option IndexValue} {actionId : ActionId} {commit : SemanticCommit} {draft : SemanticDraft}

theorem ledger_issue (ledger : CommandLedger issued settled entries) {command : Command}
    (absent : entries (indexKey .commands command.commandId.text) = none) :
    CommandLedger (issued ++ [command]) settled
      (Function.update entries (indexKey .commands command.commandId.text) (some (issuedValue command))) where
  stored := by
    intro earlier member
    rw [Function.update_apply]
    split
    · exact Option.some_ne_none _
    · rcases List.mem_append.mp member with old | new
      · exact ledger.stored earlier old
      · rename_i different
        rw [List.mem_singleton.mp new] at different
        exact absurd rfl different
  origin := by
    intro key entry stored
    rw [Function.update_apply] at stored
    split at stored
    · cases stored
      exact List.mem_append_right _ List.mem_cons_self
    · exact List.mem_append_left _ (ledger.origin key entry stored)
  distinct := by
    have fresh : command.commandId ∉ issued.map Command.commandId := by
      intro member
      obtain ⟨earlier, issuedEarlier, same⟩ := List.mem_map.mp member
      have present := ledger.stored earlier issuedEarlier
      rw [same] at present
      exact present absent
    rw [List.map_append]
    exact ledger.distinct.append (List.nodup_singleton _) (by simpa using fresh)
  closed := by
    intro commandId member
    obtain ⟨entry, stored, status⟩ := ledger.closed commandId member
    refine ⟨entry, ?_, status⟩
    rw [Function.update_of_ne, stored]
    intro same
    rw [same, absent] at stored
    cases stored
  once := ledger.once

theorem ledger_settle
    (ledger : CommandLedger issued settled entries) {commandId : CommandId} {entry : CommandIndexValue} {observation : ArtifactRef}
    (stored : entries (indexKey .commands commandId.text) = some (.command entry)) (isIssued : entry.status = .issued) :
    CommandLedger issued (settled ++ [commandId])
      (Function.update entries (indexKey .commands commandId.text) (some (settledValue entry observation))) where
  stored := by
    intro earlier member
    rw [Function.update_apply]
    split
    · exact Option.some_ne_none _
    · exact ledger.stored earlier member
  origin := by
    intro key found lookup
    rw [Function.update_apply] at lookup
    split at lookup
    · cases lookup
      exact ledger.origin _ entry stored
    · exact ledger.origin key found lookup
  distinct := ledger.distinct
  closed := by
    intro earlier member
    by_cases same : indexKey .commands earlier.text = indexKey .commands commandId.text
    · refine ⟨{ entry with observation := some observation, status := .settled }, ?_, rfl⟩
      rw [same, Function.update_self]
      rfl
    · rcases List.mem_append.mp member with old | new
      · obtain ⟨found, lookup, status⟩ := ledger.closed earlier old
        exact ⟨found, by rw [Function.update_of_ne same, lookup], status⟩
      · rw [List.mem_singleton.mp new] at same
        exact absurd rfl same
  once := by
    have fresh : commandId ∉ settled := by
      intro member
      obtain ⟨found, lookup, status⟩ := ledger.closed commandId member
      rw [stored] at lookup
      cases lookup
      rw [isIssued] at status
      cases status
    exact ledger.once.append (List.nodup_singleton _) (by simpa using fresh)

theorem settle_step_ledger {state after : RunState} {contents maps : Contents} {settlement : Option Settlement}
    (step : SettleStep state contents actionId settlement after maps)
    (ledger : CommandLedger issued settled (contents .commands)) :
    CommandLedger issued (settled ++ (settlement.map Settlement.commandId).toList) (maps .commands) ∧
      maps .actions = contents .actions ∧ after.suspension = state.suspension ∧
      ∀ commandId, settlement.map Settlement.commandId = some commandId →
        ∃ command ∈ issued, command.commandId = commandId ∧ command.actionId = actionId := by
  cases step with
  | unsettling => simpa using ledger
  | settling settlement entry stored isIssued sameAction sameCommand =>
    refine ⟨?_, put_other (by decide), rfl, ?_⟩
    · rw [putAt]
      exact ledger_settle ledger stored isIssued
    · intro commandId same
      cases same
      exact ⟨entry.command, ledger.origin _ entry stored, sameCommand, sameAction⟩

theorem issue_steps_ledger {state after : RunState} {contents maps : Contents} {commands : List Command} (steps : IssueSteps state contents commands after maps)
    (ledger : CommandLedger issued settled (contents .commands)) :
    CommandLedger (issued ++ commands) settled (maps .commands) ∧ maps .actions = contents .actions ∧
      after.suspension = state.suspension := by
  induction steps generalizing issued with
  | nil state contents => simpa using ledger
  | @cons state after contents contents' commands command absent _ ih =>
    have issuedOnce := ledger_issue ledger absent
    obtain ⟨ledgerAfter, actions, suspension⟩ := ih issuedOnce
    rw [List.append_assoc] at ledgerAfter
    exact ⟨ledgerAfter, actions.trans (put_other (by decide)), suspension⟩

variable {record : JournalRecord} {genesis : RunGenesis} {log : List JournalRecord} {state after : RunState} {contents maps : Contents}

omit [Hashing] in
-- Where the parts of a semantic record are found in the draft its transition is derived from.
theorem semantic_family_parts (family : SemanticFamily record commit draft) :
    record.actionId = some draft.actionId ∧ issuedIn record = issuedBy draft ∧
      settledIn record = draft.settlement.map Settlement.commandId ∧ record.sequence = commit.sequence ∧
      isLifecycle record = false := by
  cases family <;> exact ⟨rfl, rfl, rfl, rfl, rfl⟩

structure LogKept (genesis : RunGenesis) (log : List JournalRecord) (state : RunState) (contents : Contents) : Prop where
  last : state.lastSequence = incrementDecimalNatural^[log.length] genesis.sequence
  sequences : log.map JournalRecord.sequence = successors genesis.sequence log.length
  acted : ∀ record ∈ log, ∀ actionId, record.actionId = some actionId →
    contents .actions (indexKey .actions actionId.text) ≠ none
  actions : (log.filterMap JournalRecord.actionId).Nodup
  ledger : CommandLedger (log.flatMap issuedIn) (log.filterMap settledIn) (contents .commands)
  settles : SettlesIssued log
  suspension : ∃ pending, Alternates log pending ∧ Pending state.suspension pending

theorem initial_log_kept : LogKept genesis [] (initialState genesis) fun _ _ => none where
  last := rfl
  sequences := rfl
  acted := by simp
  actions := List.nodup_nil
  ledger := empty_ledger
  settles := by
    intro position record commandId lookup
    cases lookup
  suspension := ⟨none, .start, rfl⟩

-- The part of a record that every family shares: its sequence and the entry of its action.
theorem log_kept_snoc (kept : LogKept genesis log state contents) (record : JournalRecord) (envelope : Envelope state record)
    (acts : record.actionId = some actionId) (absent : contents .actions (indexKey .actions actionId.text) = none)
    (value : IndexValue)
    (entered : maps .actions = Function.update (contents .actions) (indexKey .actions actionId.text) (some value))
    (advanced : after.lastSequence = record.sequence)
    (ledger : CommandLedger ((log ++ [record]).flatMap issuedIn) ((log ++ [record]).filterMap settledIn) (maps .commands))
    (settles : SettlesIssued (log ++ [record]))
    (suspension : ∃ pending, Alternates (log ++ [record]) pending ∧ Pending after.suspension pending) :
    LogKept genesis (log ++ [record]) after maps := by
  have sequence : record.sequence = incrementDecimalNatural^[log.length + 1] genesis.sequence := by
    rw [envelope.successor, kept.last, Function.iterate_succ_apply']
  refine ⟨?_, ?_, ?_, ?_, ledger, settles, suspension⟩
  · rw [advanced, sequence, List.length_append, List.length_singleton]
  · rw [List.map_append, kept.sequences, List.map_singleton, sequence, List.length_append]
    simp [successors, List.range_succ]
  · intro earlier member earlierId same
    rw [entered, Function.update_apply]
    split
    · exact Option.some_ne_none _
    · rcases List.mem_append.mp member with old | new
      · exact kept.acted earlier old earlierId same
      · rename_i different
        rw [List.mem_singleton.mp new, acts] at same
        cases same
        exact absurd rfl different
  · have fresh : actionId ∉ log.filterMap JournalRecord.actionId := by
      intro member
      obtain ⟨earlier, logged, same⟩ := List.mem_filterMap.mp member
      exact kept.acted earlier logged actionId same absent
    rw [List.filterMap_append]
    refine kept.actions.append ?_ ?_
    · simp [acts]
    · simpa [acts] using fresh

theorem semantic_log_kept {derived : RunState}
    (kept : LogKept genesis log state contents) (envelope : Envelope state record) (family : SemanticFamily record commit draft)
    (step : SemanticStep state contents draft derived maps) (suspension : after.suspension = derived.suspension)
    (advanced : after.lastSequence = commit.sequence) : LogKept genesis (log ++ [record]) after maps := by
  obtain ⟨acts, issues, settlement, sequence, semantic⟩ := semantic_family_parts family
  cases step with
  | @committed settled folded issued settledMaps foldedMaps issuedMaps settle facts commands absent =>
    obtain ⟨settledLedger, settledActions, settledSuspension, origin⟩ := settle_step_ledger settle kept.ledger
    have commandsSame := fact_steps_unwritten facts fun body => (log_indexes_unwritten).1
    have actionsSame := fact_steps_unwritten facts fun body => (log_indexes_unwritten).2
    rw [← commandsSame] at settledLedger
    obtain ⟨ledger, issuedActions, issuedSuspension⟩ := issue_steps_ledger commands settledLedger
    have actions : issuedMaps .actions = contents .actions := by
      rw [issuedActions, actionsSame, settledActions]
    have sameSuspension : after.suspension = state.suspension := by
      rw [suspension, ← settledSuspension, ← (fact_steps_envelope facts).suspension, ← issuedSuspension]
      rfl
    rw [← issues, ← settlement] at ledger
    refine log_kept_snoc kept record envelope acts (by rw [← actions]; exact absent) _
      (by rw [putAt, put_same, actions]) (advanced.trans sequence.symm) ?_ ?_ ?_
    · rw [putAt, List.flatMap_append, List.filterMap_append, List.flatMap_singleton, filter_map_singleton]
      exact ledger
    · apply settles_issued_snoc kept.settles
      intro commandId settles
      obtain ⟨command, member, sameCommand, sameAction⟩ := origin commandId (settlement.symm.trans settles)
      exact ⟨command, member, sameCommand, by rw [acts, sameAction]⟩
    · obtain ⟨pending, alternates, isPending⟩ := kept.suspension
      exact ⟨pending, .other record alternates semantic, by rw [sameSuspension]; exact isPending⟩

theorem lifecycle_ledger (record : JournalRecord) (lifecycle : isLifecycle record = true)
    (ledger : CommandLedger (log.flatMap issuedIn) (log.filterMap settledIn) (contents .commands)) (identity : JsString)
    (value : IndexValue) :
    CommandLedger ((log ++ [record]).flatMap issuedIn) ((log ++ [record]).filterMap settledIn)
      (putAt contents .actions identity value .commands) := by
  rw [putAt, put_other (by decide), List.flatMap_append, List.filterMap_append, filter_map_singleton]
  cases record with
  | runSuspended body | runResumed body => simpa [issuedIn, settledIn] using ledger
  | runGenesis body | decisionCommitted body | commandSettled body | outcomeCommitted body => cases lifecycle

theorem record_step_log_kept (kept : LogKept genesis log state contents) (envelope : Envelope state record)
    (step : RecordStep state contents record after maps) : LogKept genesis (log ++ [record]) after maps := by
  cases step with
  | semantic family step outcome =>
    cases outcome with
    | running => exact semantic_log_kept kept envelope family step rfl rfl
    | terminal => exact semantic_log_kept kept envelope family step rfl rfl
  | suspended record active absent =>
    refine log_kept_snoc kept _ envelope rfl absent _ (put_same ..) rfl
      (lifecycle_ledger _ rfl kept.ledger _ _) (settles_issued_snoc kept.settles ?_) ?_
    · intro commandId settles
      cases settles
    · obtain ⟨pending, alternates, isPending⟩ := kept.suspension
      rw [active] at isPending
      cases isPending
      exact ⟨some record, .suspend record alternates, record, rfl, rfl, rfl⟩
  | resumed record suspension suspended sameRequest sameSequence absent =>
    refine log_kept_snoc kept _ envelope rfl absent _ (put_same ..) rfl
      (lifecycle_ledger _ rfl kept.ledger _ _) (settles_issued_snoc kept.settles ?_) ?_
    · intro commandId settles
      cases settles
    · obtain ⟨pending, alternates, isPending⟩ := kept.suspension
      rw [suspended] at isPending
      obtain ⟨earlier, rfl, request, sequence⟩ := isPending
      exact ⟨none, .resume record alternates (sameRequest.trans request.symm) (sameSequence.trans sequence.symm), rfl⟩

theorem run_log_kept (collisionFree : CollisionFree IndexValue) {records : List JournalRecord} (accepted : foldMany (initialState genesis) records = .ok state) :
    ∃ contents, Reads state contents ∧ LogKept genesis records state contents := by
  refine foldlM_keeps (fun log state => ∃ contents, Reads state contents ∧ LogKept genesis log state contents) ?_ records []
    (initialState genesis) state ⟨_, initial_reads, initial_log_kept⟩ accepted
  intro log before record after ⟨contents, reads, kept⟩ folded
  obtain ⟨envelope, maps, step, readsAfter⟩ := fold_step collisionFree reads folded
  exact ⟨maps, readsAfter, record_step_log_kept kept envelope step⟩

theorem nothing_after_terminal {before after : List JournalRecord} {middle : RunState}
    (reached : foldMany (initialState genesis) before = .ok middle) (ended : middle.terminal ≠ none)
    (accepted : foldMany (initialState genesis) (before ++ after) = .ok state) : after = [] := by
  cases after with
  | nil => rfl
  | cons record rest =>
    rw [foldMany, List.foldlM_append] at accepted
    obtain ⟨middle', reached', continued⟩ := bind_ok accepted
    rw [show middle' = middle from Except.ok.inj (reached'.symm.trans reached)] at continued
    obtain ⟨next, folded, _⟩ := bind_ok continued
    obtain ⟨_, valid, _⟩ := bind_ok folded
    exact absurd (validate_envelope_ok valid).live ended

theorem log_exactly_once (collisionFree : CollisionFree IndexValue) (genesis : RunGenesis) (records : List JournalRecord)
    (state : RunState) (accepted : foldMany (initialState genesis) records = .ok state) :
    records.map JournalRecord.sequence = successors genesis.sequence records.length ∧
      (records.filterMap JournalRecord.actionId).Nodup ∧ ((records.flatMap issuedIn).map Command.commandId).Nodup ∧
      (records.filterMap settledIn).Nodup ∧ SettlesIssued records ∧ (∃ pending, Alternates records pending) ∧
      ∀ before after middle, records = before ++ after → foldMany (initialState genesis) before = .ok middle →
        middle.terminal ≠ none → after = [] := by
  obtain ⟨contents, _, kept⟩ := run_log_kept collisionFree accepted
  obtain ⟨pending, alternates, _⟩ := kept.suspension
  refine ⟨kept.sequences, kept.actions, kept.ledger.distinct, kept.ledger.once, kept.settles, ⟨pending, alternates⟩, ?_⟩
  intro before after middle split reached ended
  rw [split] at accepted
  exact nothing_after_terminal reached ended accepted

end Ledger

section Sample

attribute [local instance] sampleWorld

theorem publication_log_exactly_once : ∃ records state, records.length = 4 ∧
    foldMany (initialState sampleGenesis) records = .ok state ∧ (records.filterMap JournalRecord.actionId).Nodup ∧
      ((records.flatMap issuedIn).map Command.commandId).Nodup := by
  obtain ⟨records, counted, ran⟩ := intended_logged
  obtain ⟨_, actions, issued, _⟩ := log_exactly_once sample_collision_free sampleGenesis records _ ran
  exact ⟨records, _, counted, ran, actions, issued⟩

end Sample

end PiAutopilot.Authority
