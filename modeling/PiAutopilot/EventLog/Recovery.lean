import Mathlib.Logic.Encodable.Basic
import Mathlib.Logic.Equiv.List
import PiAutopilot.EventLog.Log

set_option autoImplicit false

/-! # What an open recovers after interrupted appends

Replay refuses a file with one unreadable line, and nothing repairs a line that an interruption left
torn.  The log survives exactly the interruptions that never leave a part of a row. -/

namespace PiAutopilot.EventLog

open Lib

def textNumbers (text : String) : List Nat := text.toList.map Char.toNat

def numbersText (numbers : List Nat) : String := String.ofList (numbers.map Char.ofNat)

theorem numbers_text (text : String) : numbersText (textNumbers text) = text := by
  simp [numbersText, textNumbers, Function.comp_def]

def rowNumbers (event : EventRow) : List (List Nat) :=
  [event.sequence.toNat, event.previousRevision.toNat, event.newRevision.toNat] ::
    textNumbers event.kind.text :: event.artifactRefs.map fun reference => textNumbers reference.text

def numbersRow : List (List Nat) → Option EventRow
  | [sequence, previousRevision, newRevision] :: kind :: refs =>
    some {
      sequence := UInt64.ofNat sequence
      previousRevision := UInt64.ofNat previousRevision
      newRevision := UInt64.ofNat newRevision
      kind := ⟨numbersText kind⟩
      artifactRefs := refs.map fun reference => ⟨numbersText reference⟩ }
  | _ => none

theorem numbers_row {event : EventRow} : numbersRow (rowNumbers event) = some event := by
  simp [numbersRow, rowNumbers, numbers_text, Function.comp_def]

def onesText (code : Nat) : List UInt8 := [123, 34, 114, 111, 119, 34, 58] ++ (List.replicate (code + 1) 49 ++ [125])

def sampleVec (event : EventRow) : List UInt8 := onesText (Encodable.encode (rowNumbers event))

def sampleFromStr (line : List UInt8) : Option EventRow :=
  if line = onesText (line.length - 9) then
    (Encodable.decode (line.length - 9) : Option (List (List Nat))).bind numbersRow
  else none

theorem ones_text_plain {code : Nat} : PlainLine (onesText code) := by
  refine ⟨List.cons_ne_nil _ _, ?_, ?_⟩
  · simp [onesText, newline]
  · rw [onesText, ← List.append_assoc, List.getLast?_append_of_ne_nil _ (List.cons_ne_nil _ _)]
    decide

theorem sample_read_back (event : EventRow) : sampleFromStr (sampleVec event) = some event := by
  have measured : (sampleVec event).length - 9 = Encodable.encode (rowNumbers event) := by
    simp [sampleVec, onesText]
  rw [sampleFromStr, measured, if_pos (show sampleVec event = onesText _ from rfl), Encodable.encodek]
  exact numbers_row

@[reducible] def sampleCodec : RowCodec where
  canonicalJson := sampleVec
  toVec := sampleVec
  fromStr := sampleFromStr
  canonical_plain _ := ones_text_plain
  vec_plain _ := ones_text_plain
  from_canonical := sample_read_back
  from_vec := sample_read_back

section Recovery

variable [RowCodec]

inductive Kept : List Attempt → List EventRow → Prop where
  | nil : Kept [] []
  | acknowledged (attempts : List Attempt) (rows : List EventRow) (event : EventRow)
      (kept : Kept attempts rows) : Kept (attempts ++ [.acknowledged event]) (rows ++ [event])
  | written (attempts : List Attempt) (rows : List EventRow) (event : EventRow)
      (kept : Kept attempts rows) : Kept (attempts ++ [.interrupted event]) (rows ++ [event])
  | lost (attempts : List Attempt) (rows : List EventRow) (event : EventRow)
      (kept : Kept attempts rows) : Kept (attempts ++ [.interrupted event]) rows

def Recoverable (log : Log) : Prop :=
  ∃ core, replayPath log.file = some core ∧ Kept log.attempts core.events ∧
    core.state = foldEvents core.events ∧ core.eventBytes = lines log.file

/-- An append starts on a fresh line, and an interruption leaves nothing of its row or all of it, with
or without the newline. -/
def WholeRow (log : Log) : Action → Prop
  | .reopen => True
  | .append _ _ => EndsLine log.file
  | .interrupt kind artifactRefs cut _ =>
    cut = 0 ∨ EndsLine log.file ∧ ∀ core event, log.process = some core →
      nextEvent core kind artifactRefs = .ok event → (rowBytes event).length ≤ cut

theorem recoverable_of_replay {log : Log} {core : CoreState} (replayed : replayPath log.file = some core)
    (kept : Kept log.attempts core.events) : Recoverable log :=
  have replays := replay_path_replays replayed
  ⟨core, replayed, kept, replays.folded, replays.bytes⟩

theorem recoverable_process {log : Log} {process : Option CoreState} (recoverable : Recoverable log) :
    Recoverable { log with process := process } :=
  recoverable

variable {file : List UInt8} {event : EventRow}

theorem lines_row (fresh : EndsLine file) : lines (file ++ rowBytes event) = lines file ++ [rowBytes event] := by
  rw [lines_append fresh, lines_unterminated (row_bytes_plain)]

theorem lines_row_newline (fresh : EndsLine file) : lines (file ++ (rowBytes event ++ [newline])) = lines file ++ [rowBytes event] := by
  rw [lines_append fresh, lines_terminated (row_bytes_plain)]

-- A cut at or after the end of the row leaves one of only two texts.
theorem lines_cut {cut : Nat} (fresh : EndsLine file) (whole : (rowBytes event).length ≤ cut) :
    lines (file ++ (rowBytes event ++ [newline]).take cut) = lines file ++ [rowBytes event] := by
  rcases Nat.eq_or_lt_of_le whole with atEnd | past
  · rw [← atEnd, List.take_left]
    exact lines_row fresh
  · rw [List.take_of_length_le (by rw [List.length_append]; exact past)]
    exact lines_row_newline fresh

theorem step_recoverable {log : Log} {action : Action} (recoverable : Recoverable log)
    (whole : WholeRow log action) : Recoverable (step log action) := by
  obtain ⟨replayed, replays, kept, _⟩ := id recoverable
  cases action with
  | reopen => exact recoverable_process recoverable
  | append kind refs =>
    rw [step]
    split
    · exact recoverable
    · split
      · exact recoverable
      · rename_i core _ event _
        refine recoverable_of_replay (replay_path_line _ replayed event replays ?_) ?_
        · exact lines_row_newline whole
        · exact .acknowledged _ _ event kept
  | interrupt kind refs cut goesOn =>
    rw [step]
    split
    · exact recoverable
    · rename_i core holds
      split
      · exact recoverable_process recoverable
      · rename_i event next
        rcases whole with nothing | ⟨fresh, reaches⟩
        · refine recoverable_of_replay ?_ (.lost _ _ event kept)
          rw [nothing, List.take_zero, List.append_nil]
          exact replays
        · refine recoverable_of_replay (replay_path_line _ replayed event replays ?_) ?_
          · exact lines_cut fresh (reaches core event holds next)
          · exact .written _ _ event kept

theorem start_recoverable : Recoverable Log.start := recoverable_of_replay rfl .nil

theorem whole_rows_recoverable (log : Log) (reached : Reached WholeRow log) : Recoverable log := by
  induction reached with
  | start => exact start_recoverable
  | step log action _ whole ih => exact step_recoverable ih whole

end Recovery

section Sample

attribute [local instance] sampleCodec

theorem retried_append_recoverable :
    Recoverable (step (step (step (step Log.start .reopen) (.append ⟨"a"⟩ [])) (.interrupt ⟨"b"⟩ [] 0 true)) .reopen) := by
  refine whole_rows_recoverable _ (.step _ _ (.step _ _ (.step _ _ (.step _ _ .start ?_) ?_) ?_) ?_)
  · trivial
  · exact Or.inl rfl
  · exact Or.inl rfl
  · trivial

/-- A process killed after the first byte of its first row leaves a log that no open accepts. -/
theorem torn_row_refused : ∃ log, Reached (fun _ _ => True) log ∧ log.file = [123] ∧ replayPath log.file = none := by
  refine ⟨step (step .start .reopen) (.interrupt ⟨"a"⟩ [] 1 false), ?_, rfl, rfl⟩
  exact .step _ _ (.step _ _ .start trivial) trivial

end Sample

end PiAutopilot.EventLog
