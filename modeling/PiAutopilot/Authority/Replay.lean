import PiAutopilot.Authority.SampleRun

set_option autoImplicit false

namespace PiAutopilot.Authority

open Lib Protocol

section Replay

variable [StimulusHashing]

theorem prepare_agrees_with_replay (state : RunState) (stimulus : Stimulus) (commit : PreparedCommit)
    (prepared : prepare state stimulus = .ok commit) :
    ∃ after, fold state commit.record = .ok after ∧ commit.record.resultStateDigest = some (stateDigest after) ∧
      after.lastSequence = incrementDecimalNatural state.lastSequence := by
  obtain ⟨after, step, folds, result⟩ := prepare_step state stimulus commit prepared
  exact ⟨after, folds, result, prepared_step_sequence step⟩

end Replay

section Sample

attribute [local instance] sampleWorld

theorem declaration_agrees_with_replay : ∃ commit after,
    prepare (initialState sampleGenesis) (.boundaryRequestReceived declaring) = .ok commit ∧
      fold (initialState sampleGenesis) commit.record = .ok after ∧
      commit.record.resultStateDigest = some (stateDigest after) ∧
      after.lastSequence = incrementDecimalNatural sampleGenesis.sequence := by
  have commits : Commits opened.run (.boundaryRequestReceived declaring) declared.run := declaredStep.commits
  obtain ⟨commit, prepared, _⟩ := commits
  rw [opened_run] at prepared
  obtain ⟨after, folds, result, sequence⟩ := prepare_agrees_with_replay _ _ commit prepared
  exact ⟨commit, after, prepared, folds, result, sequence⟩

end Sample

end PiAutopilot.Authority
