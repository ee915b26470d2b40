import Mathlib.Data.List.Basic

set_option autoImplicit false

namespace PiAutopilot.Adapters

-- The directory that an operation fills: a reserved workspace, or the one named after the action.
inductive Directory where
  | absent
  | empty
  | filled
deriving DecidableEq

inductive GitStep where
  | binding | lookup | clone | checkout | merge | conflicts | identity | fetch | capture
deriving DecidableEq

inductive Ending where
  | done
  | failed
  | crashed
deriving DecidableEq

inductive Answer where
  | ok
  | retry (code message : String)
  | crashed

-- How each step of an attempt ends, and what a clone that is cut off leaves behind.
structure Attempt where
  ending : GitStep → Ending
  cloned : Directory

def Attempt.quiet : Attempt := ⟨fun _ => .done, .filled⟩

-- The steps that refuse the command whatever git does: an unbound capability, another tree, a conflict, a capture too big.
abbrev Refusals := GitStep → Bool

variable (refuses : Refusals) (attempt : Attempt)

def ends (step : GitStep) : Ending :=
  if attempt.ending step = .done ∧ refuses step then .failed else attempt.ending step

def stage (step : GitStep) (left : Directory) (code message : String) (next : Directory × Answer) : Directory × Answer :=
  match ends refuses attempt step with
  | .done => next
  | .failed => (left, .retry code message)
  | .crashed => (left, .crashed)

def materialize (directory : Directory) : Directory × Answer :=
  stage refuses attempt .binding directory "git.capability-unbound" "repository or workspace capability is unbound" <|
  match directory with
  | .absent => (.absent, .retry "git.workspace-unavailable" "reservation is unavailable")
  | .filled => (.filled, .retry "git.workspace-not-empty" "reservation is not an empty real directory")
  | .empty =>
    stage refuses attempt .lookup .empty "git.base-mismatch" "base commit/tree mismatch" <|
    stage refuses attempt .clone attempt.cloned "git.clone-failed" "clone failed" <|
    stage refuses attempt .checkout .filled "git.checkout-failed" "checkout failed" (.filled, .ok)

def integrate (directory : Directory) : Directory × Answer :=
  stage refuses attempt .binding directory "git.repository-unbound" "repository capability unbound" <|
  stage refuses attempt .lookup directory "git.integration-precondition" "commit/tree binding differs" <|
  if directory = .filled then
    (.filled, .retry "git.integration-clean" "integration workspace reservation is not empty")
  else
    stage refuses attempt .clone attempt.cloned "git.integration-clone" "clone failed" <|
    -- The answers of the checkout and of the list of conflicts are not looked at.
    if attempt.ending .checkout = .crashed then (.filled, .crashed)
    else
      match ends refuses attempt .merge with
      | .crashed => (.filled, .crashed)
      | .failed =>
        if attempt.ending .conflicts = .crashed then (.filled, .crashed)
        else stage refuses attempt .capture .filled "git.conflict-bound" "conflict capture exceeded bound" (.filled, .ok)
      | .done =>
        stage refuses attempt .identity .filled "git.integration-result" "integrated identity unavailable" <|
        stage refuses attempt .fetch .filled "git.integration-import"
          "integrated commit could not be installed in the publication repository" <|
        stage refuses attempt .capture .filled "git.capture-bound" "integration capture exceeded bound" (.filled, .ok)

inductive GitOperation where
  | materialize
  | integrate

def GitOperation.run : GitOperation → Directory → Directory × Answer
  | .materialize => Adapters.materialize refuses attempt
  | .integrate => Adapters.integrate refuses attempt

def GitOperation.accepts : GitOperation → Directory → Prop
  | .materialize, directory => directory = .empty
  | .integrate, directory => directory ≠ .filled

-- The steps whose refusal is answered by a retry.
def GitOperation.steps (operation : GitOperation) : List GitStep :=
  [.binding, .lookup, .clone] ++
    match operation with
    | .materialize => [.checkout]
    | .integrate => .capture :: if refuses .merge then [] else [.identity, .fetch]

variable (operation : GitOperation) (directory : Directory)

section Stage

variable {step : GitStep} {left : Directory} {code message : String} {next : Directory × Answer}

theorem stage_quiet : (stage refuses .quiet step left code message next).2 = .ok ↔ refuses step = false ∧ next.2 = .ok := by
  cases refused : refuses step <;> simp [stage, ends, Attempt.quiet, refused]

theorem stage_left (kept : next.1 = left) : (stage refuses attempt step left code message next).1 = left := by
  rw [stage]
  split
  · exact kept
  · rfl
  · rfl

-- A step that refuses nothing lets the attempt through or, cut off, leaves what it found.
theorem stage_fit (fit : refuses step = false) : (stage refuses attempt step left code message next).1 =
    if attempt.ending step = .done then next.1 else left := by
  rw [stage, ends, fit]
  cases attempt.ending step <;> rfl

end Stage

theorem quiet_ok_iff : (operation.run refuses .quiet directory).2 = .ok ↔
    operation.accepts directory ∧ ∀ step ∈ operation.steps refuses, refuses step = false := by
  cases operation with
  | materialize => cases directory <;> simp [GitOperation.run, materialize, GitOperation.accepts, GitOperation.steps, stage_quiet]
  | integrate =>
    have ending : ∀ step, Attempt.quiet.ending step = .done := fun _ => rfl
    cases conflicting : refuses .merge <;> cases directory <;>
      simp [GitOperation.run, integrate, GitOperation.accepts, GitOperation.steps, stage_quiet, conflicting, ends, ending]
    all_goals tauto

-- In a directory it accepts, an operation passes three steps and then fills the directory, however it ends.
theorem accepted_run (accepted : operation.accepts directory) : ∃ binding lookup clone : String × String, ∃ rest,
    rest.1 = .filled ∧ operation.run refuses attempt directory =
      stage refuses attempt .binding directory binding.1 binding.2 (stage refuses attempt .lookup directory lookup.1 lookup.2
        (stage refuses attempt .clone attempt.cloned clone.1 clone.2 rest)) := by
  cases operation with
  | materialize =>
    cases accepted
    exact ⟨(_, _), (_, _), (_, _), _, stage_left _ _ rfl, rfl⟩
  | integrate =>
    refine ⟨(_, _), (_, _), (_, _), _, ?_, by rw [GitOperation.run, integrate, if_neg accepted]⟩
    split
    · rfl
    · split
      · rfl
      · split
        · rfl
        · exact stage_left _ _ rfl
      · exact stage_left _ _ (stage_left _ _ (stage_left _ _ rfl))

theorem unaccepted_run (unaccepted : ¬ operation.accepts directory) : (operation.run refuses attempt directory).1 = directory := by
  cases operation with
  | materialize =>
    refine stage_left _ _ ?_
    cases directory with
    | empty => exact absurd rfl unaccepted
    | absent | filled => rfl
  | integrate =>
    rw [GitOperation.run, integrate, if_pos (not_not.mp unaccepted), not_not.mp unaccepted]
    exact stage_left _ _ (stage_left _ _ rfl)

end PiAutopilot.Adapters
