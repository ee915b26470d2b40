import PiAutopilot.Lib.Lines
import PiAutopilot.EventLog.State

set_option autoImplicit false

/-! # The append-only event log and its replay

The log file is the only authority: a process appends a row and a newline, and only after both are
synced does its own state advance.  Opening the log reads every line back and folds it. -/

namespace PiAutopilot.EventLog

open Lib

/-- The row texts of the JSON library: both writers give one line that the strict reader reads back. -/
class RowCodec where
  canonicalJson : EventRow → List UInt8
  toVec : EventRow → List UInt8
  fromStr : List UInt8 → Option EventRow
  canonical_plain : ∀ event, PlainLine (canonicalJson event)
  vec_plain : ∀ event, PlainLine (toVec event)
  from_canonical : ∀ event, fromStr (canonicalJson event) = some event
  from_vec : ∀ event, fromStr (toVec event) = some event

structure CoreState where
  state : State
  events : List EventRow
  eventBytes : List (List UInt8)

def CoreState.empty : CoreState where
  state := .empty
  events := []
  eventBytes := []

def nextEvent (core : CoreState) (kind : EventKind) (artifactRefs : List Ref) : Except String EventRow := do
  let sequence ← (checkedAddOne core.state.sequence).elim (.error "event sequence overflow") .ok
  let newRevision ← (checkedAddOne core.state.revision).elim (.error "event revision overflow") .ok
  return {
    sequence := sequence
    previousRevision := core.state.revision
    newRevision := newRevision
    kind := kind
    artifactRefs := artifactRefs }

def CoreState.push (core : CoreState) (event : EventRow) (bytes : List UInt8) : CoreState where
  state := apply core.state event
  events := core.events ++ [event]
  eventBytes := core.eventBytes ++ [bytes]

structure Replays (given : List (List UInt8)) (core : CoreState) : Prop where
  folded : core.state = foldEvents core.events
  bytes : core.eventBytes = given

theorem replays_empty : Replays [] CoreState.empty := ⟨rfl, rfl⟩

theorem replays_push (given : List (List UInt8)) (core : CoreState) (line : List UInt8) (event : EventRow)
    (replays : Replays given core) : Replays (given ++ [line]) (core.push event line) := by
  refine ⟨?_, ?_⟩
  · change apply core.state event = foldEvents (core.events ++ [event])
    rw [foldEvents, List.foldl_append, replays.folded]
    rfl
  · change core.eventBytes ++ [line] = given ++ [line]
    rw [replays.bytes]

section Rows

variable [RowCodec]

def rowBytes (event : EventRow) : List UInt8 :=
  if event.kind.text = "submit:accepted" ∨ event.kind.text = "blocked:accepted" then
    RowCodec.canonicalJson event
  else RowCodec.toVec event

def replayLine (core : CoreState) (line : List UInt8) : Option CoreState := do
  let event ← RowCodec.fromStr line
  return core.push event line

def replayPath (file : List UInt8) : Option CoreState := (lines file).foldlM replayLine .empty

theorem row_bytes_plain {event : EventRow} : PlainLine (rowBytes event) := by
  rw [rowBytes]
  split
  · exact RowCodec.canonical_plain event
  · exact RowCodec.vec_plain event

theorem from_row_bytes (event : EventRow) : RowCodec.fromStr (rowBytes event) = some event := by
  rw [rowBytes]
  split
  · exact RowCodec.from_canonical event
  · exact RowCodec.from_vec event

theorem replay_lines {pending : List (List UInt8)} (given : List (List UInt8)) (start core : CoreState)
    (replays : Replays given start) (replayed : pending.foldlM replayLine start = some core) :
    Replays (given ++ pending) core := by
  induction pending generalizing given start with
  | nil =>
    cases replayed
    rwa [List.append_nil]
  | cons line pending ih =>
    obtain ⟨middle, stepped, rest⟩ := Option.bind_eq_some_iff.mp replayed
    obtain ⟨event, _, pushed⟩ := Option.bind_eq_some_iff.mp stepped
    cases pushed
    have continued := ih (given ++ [line]) _ (replays_push given start line event replays) rest
    rwa [List.append_assoc] at continued

theorem replay_path_replays {file : List UInt8} {core : CoreState} (replayed : replayPath file = some core) :
    Replays (lines file) core := by
  have whole := replay_lines [] .empty core replays_empty replayed
  rwa [List.nil_append] at whole

theorem replay_path_line {file : List UInt8} (bytes : List UInt8) (core : CoreState) (event : EventRow)
    (replayed : replayPath file = some core)
    (split : lines (file ++ bytes) = lines file ++ [rowBytes event]) :
    replayPath (file ++ bytes) = some (core.push event (rowBytes event)) := by
  rw [replayPath] at replayed ⊢
  rw [split, List.foldlM_append, replayed]
  change (replayLine core (rowBytes event) >>= pure) = _
  rw [replayLine, from_row_bytes]
  rfl

inductive Attempt where
  | acknowledged (event : EventRow)
  | interrupted (event : EventRow)

structure Log where
  file : List UInt8
  process : Option CoreState
  attempts : List Attempt

def Log.start : Log where
  file := []
  process := none
  attempts := []

inductive Action where
  | reopen
  | append (kind : EventKind) (artifactRefs : List Ref)
  | interrupt (kind : EventKind) (artifactRefs : List Ref) (cut : Nat) (goesOn : Bool)

/-- An append without a process, or one that fails before it writes, changes nothing.  An interrupted
append leaves a first part of the row and its newline, and the process keeps the state it had. -/
def step (log : Log) : Action → Log
  | .reopen => { log with process := replayPath log.file }
  | .append kind artifactRefs =>
    match log.process with
    | none => log
    | some core =>
      match nextEvent core kind artifactRefs with
      | .error _ => log
      | .ok event =>
        { file := log.file ++ (rowBytes event ++ [newline])
          process := some (core.push event (rowBytes event))
          attempts := log.attempts ++ [.acknowledged event] }
  | .interrupt kind artifactRefs cut goesOn =>
    match log.process with
    | none => log
    | some core =>
      match nextEvent core kind artifactRefs with
      | .error _ => { log with process := if goesOn then some core else none }
      | .ok event =>
        { file := log.file ++ (rowBytes event ++ [newline]).take cut
          process := if goesOn then some core else none
          attempts := log.attempts ++ [.interrupted event] }

inductive Reached (allowed : Log → Action → Prop) : Log → Prop where
  | start : Reached allowed .start
  | step (log : Log) (action : Action) (reached : Reached allowed log) (permitted : allowed log action) :
      Reached allowed (step log action)

end Rows

end PiAutopilot.EventLog
