import PiAutopilot.Authority.RecordStep

set_option autoImplicit false

namespace PiAutopilot.Authority

open Lib Protocol

section RunInvariant

variable [Hashing]

-- A property of the state and its maps that no part of a commit breaks, as long as its facts are allowed. The last
-- field says that it does not look at the fields a record writes after its index writes.
structure PreservedWhen (allowed : FactBody → Prop) (holds : RunState → Contents → Prop) : Prop where
  fact : ∀ state contents body after maps, allowed body → holds state contents →
    FactStep state contents state.identity.runId body after maps → holds after maps
  issue : ∀ state contents (command : Command), holds state contents →
    contents .commands (indexKey .commands command.commandId.text) = none →
    holds (insertAt state contents .commands command.commandId.text (issuedValue command))
      (putAt contents .commands command.commandId.text (issuedValue command))
  settle : ∀ state contents (commandId : CommandId) (entry : CommandIndexValue) (observation : ArtifactRef),
    holds state contents → contents .commands (indexKey .commands commandId.text) = some (.command entry) →
    entry.status = .issued → entry.command.commandId = commandId →
    holds (insertAt state contents .commands commandId.text (settledValue entry observation))
      (putAt contents .commands commandId.text (settledValue entry observation))
  act : ∀ state contents (actionId : ActionId) (kind : ActionRecordKind) (sequence : DecimalNatural), holds state contents →
    contents .actions (indexKey .actions actionId.text) = none →
    holds (insertAt state contents .actions actionId.text (actionValue actionId kind sequence))
      (putAt contents .actions actionId.text (actionValue actionId kind sequence))
  envelope : ∀ state contents suspension terminal sequence, holds state contents →
    holds { state with suspension := suspension, terminal := terminal, lastSequence := sequence } contents

abbrev Preserved (holds : RunState → Contents → Prop) : Prop := PreservedWhen (fun _ => True) holds

theorem preserved_and {allowed : FactBody → Prop} {left right : RunState → Contents → Prop}
    (first : PreservedWhen allowed left) (second : PreservedWhen allowed right) :
    PreservedWhen allowed fun state contents => left state contents ∧ right state contents where
  fact state contents body after maps permitted held step := ⟨first.fact state contents body after maps permitted held.1 step,
      second.fact state contents body after maps permitted held.2 step⟩
  issue state contents command held absent :=
    ⟨first.issue state contents command held.1 absent, second.issue state contents command held.2 absent⟩
  settle state contents commandId entry observation held stored issued same :=
    ⟨first.settle state contents commandId entry observation held.1 stored issued same,
      second.settle state contents commandId entry observation held.2 stored issued same⟩
  act state contents actionId kind sequence held absent := ⟨first.act state contents actionId kind sequence held.1 absent,
      second.act state contents actionId kind sequence held.2 absent⟩
  envelope state contents suspension terminal sequence held := ⟨first.envelope state contents suspension terminal sequence held.1,
      second.envelope state contents suspension terminal sequence held.2⟩

-- A property that looks neither at the commands and actions nor at what the envelope writes.
theorem preserved_aside {holds : RunState → Contents → Prop}
    (fact : ∀ {state contents body after maps}, FactStep state contents state.identity.runId body after maps →
      holds state contents → holds after maps)
    (aside : ∀ {state contents maps indexes suspension terminal sequence}, holds state contents →
      (∀ name, name ∉ [IndexName.commands, .actions] → maps name = contents name) →
      holds { state with indexes := indexes, suspension := suspension, terminal := terminal, lastSequence := sequence } maps) :
    Preserved holds where
  fact _ _ _ _ _ _ held step := fact step held
  issue _ _ _ held _ := aside held fun _ other => put_other (List.ne_of_not_mem_cons other)
  settle _ _ _ _ _ held _ _ _ := aside held fun _ other => put_other (List.ne_of_not_mem_cons other)
  act _ _ _ _ _ held _ := aside held fun _ other => put_other (List.ne_of_not_mem_cons (List.not_mem_of_not_mem_cons other))
  envelope _ _ _ _ _ held := aside held fun _ _ => rfl

variable {allowed : FactBody → Prop} {holds : RunState → Contents → Prop} (preserved : PreservedWhen allowed holds)
  {after state : RunState} {contents maps : Contents} {record : JournalRecord} {genesis : RunGenesis}
  {records : List JournalRecord}

include preserved

theorem fact_steps_keep {facts : List DomainFact}
    (steps : FactSteps state contents facts after maps) (permitted : ∀ fact ∈ facts, allowed fact.body)
    (before : holds state contents) : holds after maps := by
  induction steps with
  | nil state contents => exact before
  | cons fact sameRun step _ ih =>
    rw [sameRun] at step
    exact ih (fun later member => permitted later (List.mem_cons_of_mem _ member))
      (preserved.fact _ _ _ _ _ (permitted fact List.mem_cons_self) before step)

theorem issue_steps_keep {commands : List Command}
    (steps : IssueSteps state contents commands after maps) (before : holds state contents) : holds after maps := by
  induction steps with
  | nil state contents => exact before
  | cons command absent _ ih => exact ih (preserved.issue _ _ command before absent)

theorem settle_step_keeps {actionId : ActionId}
    {settlement : Option Settlement} (step : SettleStep state contents actionId settlement after maps)
    (before : holds state contents) : holds after maps := by
  cases step with
  | unsettling => exact before
  | settling settlement entry stored issued _ sameCommand =>
    exact preserved.settle _ _ _ entry settlement.observation before stored issued sameCommand

theorem semantic_step_keeps {draft : SemanticDraft}
    (step : SemanticStep state contents draft after maps) (permitted : ∀ fact ∈ draft.facts, allowed fact.body)
    (before : holds state contents) : holds after maps := by
  cases step with
  | committed settle facts commands absent =>
    have settled := settle_step_keeps preserved settle before
    have folded := fact_steps_keep preserved facts permitted settled
    have issued := issue_steps_keep preserved commands folded
    exact preserved.act _ _ _ _ _ issued absent

theorem record_step_keeps_when
    (step : RecordStep state contents record after maps) (permitted : ∀ fact ∈ recordFacts record, allowed fact.body)
    (before : holds state contents) : holds after maps := by
  cases step with
  | @semantic _ commit draft derived _ _ family step outcome =>
    have draftPermitted : ∀ fact ∈ draft.facts, allowed fact.body := by
      cases family <;> exact permitted
    have committed := semantic_step_keeps preserved step draftPermitted before
    cases outcome with
    | running => exact preserved.envelope derived _ _ _ _ committed
    | terminal outcome => exact preserved.envelope derived _ _ _ _ committed
  | suspended record active absent =>
    exact preserved.envelope _ _ _ _ _ (preserved.act _ _ _ _ _ before absent)
  | resumed record suspension suspended sameRequest sameSequence absent =>
    exact preserved.envelope _ _ _ _ _ (preserved.act _ _ _ _ _ before absent)

theorem run_keeps_when (collisionFree : CollisionFree IndexValue) (initial : holds (initialState genesis) fun _ _ => none)
    (accepted : foldMany (initialState genesis) records = .ok state)
    (permitted : ∀ record ∈ records, ∀ fact ∈ recordFacts record, allowed fact.body) :
    ∃ contents, Reads state contents ∧ holds state contents := by
  have kept : (∀ record ∈ [] ++ records, ∀ fact ∈ recordFacts record, allowed fact.body) →
      ∃ contents, Reads state contents ∧ holds state contents := by
    refine foldlM_keeps (fun log state => (∀ record ∈ log, ∀ fact ∈ recordFacts record, allowed fact.body) →
      ∃ contents, Reads state contents ∧ holds state contents) ?_ records [] (initialState genesis) state
      (fun _ => ⟨_, initial_reads, initial⟩) accepted
    intro log before record after held folded logged
    obtain ⟨contents, reads, heldBefore⟩ := held fun earlier member => logged earlier (by simp [member])
    obtain ⟨_, maps, step, readsAfter⟩ := fold_step collisionFree reads folded
    exact ⟨maps, readsAfter, record_step_keeps_when preserved step (logged record (by simp)) heldBefore⟩
  exact kept (by simpa using permitted)

omit preserved

theorem record_step_keeps {holds : RunState → Contents → Prop} (preserved : Preserved holds) (step : RecordStep state contents record after maps)
    (before : holds state contents) : holds after maps :=
  record_step_keeps_when preserved step (fun _ _ => trivial) before

theorem run_keeps {holds : RunState → Contents → Prop} (preserved : Preserved holds) (collisionFree : CollisionFree IndexValue) (initial : holds (initialState genesis) fun _ _ => none) (accepted : foldMany (initialState genesis) records = .ok state) :
    ∃ contents, Reads state contents ∧ holds state contents :=
  run_keeps_when preserved collisionFree initial accepted fun _ _ _ _ => trivial

end RunInvariant

end PiAutopilot.Authority
