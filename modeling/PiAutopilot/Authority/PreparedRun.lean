import PiAutopilot.Authority.Agreement

set_option autoImplicit false

namespace PiAutopilot.Authority

open Protocol
open Lib

section PreparedRun

variable [StimulusHashing]

-- Prepare accepts the stimulus and the state after it is what its record folds to.
def Commits (before : RunState) (stimulus : Stimulus) (after : RunState) : Prop :=
  ∃ commit, prepare before stimulus = .ok commit ∧ fold before commit.record = .ok after

variable {stimulus : Stimulus} {genesis : RunGenesis} {allowed : RunState → Stimulus → Prop} {state : RunState}

theorem commits_step {before after : RunState} (commits : Commits before stimulus after) : PreparedStep before stimulus after := by
  obtain ⟨commit, prepared, folds⟩ := commits
  obtain ⟨reached, step, again, _⟩ := prepare_step before stimulus commit prepared
  rw [folds] at again
  cases again
  exact step

-- The states that committing what prepare returns can reach, when every step is taken as the condition allows.
inductive ReachedBy (allowed : RunState → Stimulus → Prop) (genesis : RunGenesis) : RunState → Prop
  | start : ReachedBy allowed genesis (initialState genesis)
  | commit (before after : RunState) (stimulus : Stimulus) (reached : ReachedBy allowed genesis before)
      (permitted : allowed before stimulus) (commits : Commits before stimulus after) : ReachedBy allowed genesis after

abbrev Reached (genesis : RunGenesis) : RunState → Prop := ReachedBy (fun _ _ => True) genesis

-- The state is where the log of so many prepared records ends.
def Logged (genesis : RunGenesis) (length : Nat) (state : RunState) : Prop :=
  ∃ records, records.length = length ∧ foldMany (initialState genesis) records = .ok state

theorem logged_commits {length : Nat} {before after : RunState}
    (logged : Logged genesis length before) (commits : Commits before stimulus after) : Logged genesis (length + 1) after := by
  obtain ⟨records, counted, ran⟩ := logged
  obtain ⟨commit, _, folds⟩ := commits
  exact ⟨records ++ [commit.record], by simp [counted], (foldlM_snoc).mpr ⟨before, ran, folds⟩⟩

-- The log of a prepared run is accepted by replay.
theorem reached_records
    (reached : ReachedBy allowed genesis state) : ∃ records, foldMany (initialState genesis) records = .ok state := by
  have logged : ∃ length, Logged genesis length state := by
    induction reached with
    | start => exact ⟨0, [], rfl, rfl⟩
    | commit before after stimulus _ _ commits ih =>
      obtain ⟨length, logged⟩ := ih
      exact ⟨length + 1, logged_commits logged commits⟩
  obtain ⟨_, records, _, ran⟩ := logged
  exact ⟨records, ran⟩

theorem reached_keeps {holds : RunState → Prop} (start : holds (initialState genesis))
    (keeps : ∀ before after stimulus, ReachedBy allowed genesis before → holds before → allowed before stimulus →
      PreparedStep before stimulus after → holds after) (reached : ReachedBy allowed genesis state) : holds state := by
  induction reached with
  | start => exact start
  | commit before after stimulus earlier permitted commits ih =>
    exact keeps before after stimulus earlier ih permitted (commits_step commits)

end PreparedRun

end PiAutopilot.Authority
