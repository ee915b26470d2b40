import Mathlib.Logic.Function.Basic

set_option autoImplicit false

/-! # The state folded from the event rows of the core log -/

namespace PiAutopilot.EventLog

structure EventKind where
  text : String
deriving DecidableEq

structure Ref where
  text : String
deriving DecidableEq

structure EventRow where
  sequence : UInt64
  previousRevision : UInt64
  newRevision : UInt64
  kind : EventKind
  artifactRefs : List Ref
deriving DecidableEq

inductive StateIssueKind where
  | sequenceGap
  | sequenceRegression
  | sequenceOverflow
  | revisionMismatch
  | counterOverflow
deriving DecidableEq

structure StateIssue where
  atSequence : UInt64
  kind : StateIssueKind
  expected : UInt64
  actual : UInt64
deriving DecidableEq

abbrev KeyCounts (Key : Type) := Key → Option UInt64

structure State where
  sequence : UInt64
  revision : UInt64
  rows : UInt64
  accepted : UInt64
  rejected : UInt64
  kinds : KeyCounts EventKind
  refs : KeyCounts Ref
  issues : List StateIssue

def State.empty : State where
  sequence := 0
  revision := 0
  rows := 0
  accepted := 0
  rejected := 0
  kinds := fun _ => none
  refs := fun _ => none
  issues := []

def maxCount : UInt64 := 18446744073709551615

def checkedAddOne (value : UInt64) : Option UInt64 :=
  if value = maxCount then none else some (value + 1)

def overflowIssue (atSequence actual : UInt64) : StateIssue :=
  { atSequence := atSequence, kind := .counterOverflow, expected := maxCount, actual := actual }

def bump (value atSequence : UInt64) : UInt64 × List StateIssue :=
  match checkedAddOne value with
  | some next => (next, [])
  | none => (value, [overflowIssue atSequence value])

inductive Counter where
  | rows
  | accepted
  | rejected
deriving DecidableEq

def Counter.slot : Counter → State → UInt64
  | .rows, state => state.rows
  | .accepted, state => state.accepted
  | .rejected, state => state.rejected

def Counter.store : Counter → State → UInt64 → State
  | .rows, state, count => { state with rows := count }
  | .accepted, state, count => { state with accepted := count }
  | .rejected, state, count => { state with rejected := count }

def noteCount (state : State) (counter : Counter) (atSequence : UInt64) : State :=
  let (count, issues) := bump (counter.slot state) atSequence
  counter.store { state with issues := state.issues ++ issues } count

def noteKey {Key : Type} [DecidableEq Key] (counts : KeyCounts Key) (key : Key) (atSequence : UInt64) : KeyCounts Key × List StateIssue :=
  let (count, issues) := bump ((counts key).getD 0) atSequence
  (Function.update counts key (some count), issues)

def noteKind (state : State) (kind : EventKind) (atSequence : UInt64) : State :=
  let (kinds, issues) := noteKey state.kinds kind atSequence
  { state with kinds := kinds, issues := state.issues ++ issues }

def noteRef (atSequence : UInt64) (state : State) (reference : Ref) : State :=
  let (refs, issues) := noteKey state.refs reference atSequence
  { state with refs := refs, issues := state.issues ++ issues }

def sequenceIssue (event : EventRow) (kind : StateIssueKind) (expected : UInt64) : StateIssue :=
  { atSequence := event.sequence, kind := kind, expected := expected, actual := event.sequence }

/-- A gap moves the sequence to the row's own even though the row is rejected. -/
def checkSequence (state : State) (event : EventRow) : State × Bool :=
  match checkedAddOne state.sequence with
  | some expected =>
    if event.sequence = expected then (state, true)
    else if event.sequence > expected then
      ({ state with
          issues := state.issues ++ [sequenceIssue event .sequenceGap expected]
          sequence := event.sequence }, false)
    else
      ({ state with issues := state.issues ++ [sequenceIssue event .sequenceRegression expected] }, false)
  | none =>
    ({ state with issues := state.issues ++ [sequenceIssue event .sequenceOverflow maxCount] }, false)

def checkRevision (state : State) (event : EventRow) : State × Bool :=
  if event.previousRevision ≠ state.revision then
    ({ state with
        issues := state.issues ++
          [{ atSequence := event.sequence, kind := .revisionMismatch, expected := state.revision,
             actual := event.previousRevision }] }, false)
  else (state, true)

def apply (state : State) (event : EventRow) : State :=
  let state := noteCount state .rows event.sequence
  let (state, sequenceOk) := checkSequence state event
  let (state, revisionOk) := checkRevision state event
  if sequenceOk && revisionOk then
    let state := { state with sequence := event.sequence, revision := event.newRevision }
    let state := noteCount state .accepted event.sequence
    let state := noteKind state event.kind event.sequence
    event.artifactRefs.foldl (noteRef event.sequence) state
  else noteCount state .rejected event.sequence

def foldEvents (events : List EventRow) : State := events.foldl apply .empty

end PiAutopilot.EventLog
