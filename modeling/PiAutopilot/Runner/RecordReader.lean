import Mathlib.Data.List.TakeWhile
import PiAutopilot.Lib.Bytes
import PiAutopilot.Lib.Lines

set_option autoImplicit false

namespace PiAutopilot.Runner

open Lib

inductive RpcError where
  | frameTooLarge (bytes limit : Nat)
deriving DecidableEq

-- `chunks` is what the reads under the buffer give, the unread part of the current one first.
structure JsonlReader where
  chunks : List Bytes
  maxRecordBytes : Nat
  totalBytes : Nat
  frames : Nat
  peakLineBytes : Nat

variable (limit : Nat)

def fill (buffer : Bytes) (consumed : Nat) : List Bytes → Except RpcError (Option (Bytes × Nat)) × List Bytes
  | [] => (.ok (if buffer = [] then none else some (buffer, consumed)), [])
  -- A chunk read to its end: `fill_buf` reads the next one.
  | [] :: chunks => fill buffer consumed chunks
  | (byte :: bytes) :: chunks =>
    let available := byte :: bytes
    let content := available.idxOf newline
    if limit < buffer.length + content then
      (.error (.frameTooLarge (buffer.length + content) limit), available :: chunks)
    else if content < available.length then
      (.ok (some (buffer ++ available.take content, consumed + (content + 1))), available.drop (content + 1) :: chunks)
    else fill (buffer ++ available.take content) (consumed + content) chunks

def JsonlReader.nextRecord (reader : JsonlReader) : Except RpcError (Option Bytes) × JsonlReader :=
  match fill reader.maxRecordBytes [] 0 reader.chunks with
  | (.error error, chunks) => (.error error, { reader with chunks := chunks })
  | (.ok none, chunks) => (.ok none, { reader with chunks := chunks })
  | (.ok (some (buffer, consumed)), chunks) =>
    let record := withoutReturn buffer
    (.ok (some record), { reader with
      chunks := chunks
      totalBytes := reader.totalBytes + consumed
      frames := reader.frames + 1
      peakLineBytes := max reader.peakLineBytes record.length })

def readAll : Nat → JsonlReader → List Bytes × Option RpcError
  | 0, _ => ([], none)
  | fuel + 1, reader =>
    match reader.nextRecord with
    | (.ok none, _) => ([], none)
    | (.error error, _) => ([], some error)
    | (.ok (some record), next) => (record :: (readAll fuel next).1, (readAll fuel next).2)

structure RetainedTail where
  data : Bytes
  limit : Nat

def RetainedTail.push (tail : RetainedTail) (bytes : Bytes) : RetainedTail :=
  if tail.limit = 0 then tail
  else if tail.limit ≤ bytes.length then { tail with data := bytes.drop (bytes.length - tail.limit) }
  else { tail with data := tail.data.drop (tail.data.length + bytes.length - tail.limit) ++ bytes }

def rawFrom (current : Bytes) : Bytes → List Bytes
  | [] => if current = [] then [] else [current]
  | byte :: rest => if byte = newline then current :: rawFrom [] rest else rawFrom (current ++ [byte]) rest

def rawRecords (stream : Bytes) : List Bytes := rawFrom [] stream

theorem raw_from_chunk (current chunk rest : Bytes) : rawFrom current (chunk ++ rest) = if chunk.idxOf newline < chunk.length then
      (current ++ chunk.take (chunk.idxOf newline)) :: rawRecords (chunk.drop (chunk.idxOf newline + 1) ++ rest)
    else rawFrom (current ++ chunk.take (chunk.idxOf newline)) rest := by
  induction chunk generalizing current with
  | nil => simp
  | cons byte chunk ih =>
    rw [List.cons_append, rawFrom]
    by_cases atNewline : byte = newline
    · simp [atNewline, rawRecords]
    · rw [if_neg atNewline, ih, List.idxOf_cons_ne _ atNewline]
      simp only [List.length_cons, Nat.succ_eq_add_one, Nat.add_lt_add_iff_right, List.take_succ_cons, List.drop_succ_cons,
        List.append_assoc, List.singleton_append]

theorem raw_from_started {current : Bytes} (started : current ≠ []) (rest : Bytes) :
    ∃ raw raws, rawFrom current rest = raw :: raws ∧ current.length ≤ raw.length := by
  induction rest generalizing current with
  | nil => exact ⟨current, [], by rw [rawFrom, if_neg started], Nat.le_refl _⟩
  | cons byte rest ih =>
    rw [rawFrom]
    split
    · exact ⟨current, _, rfl, Nat.le_refl _⟩
    · obtain ⟨raw, raws, found, longer⟩ := ih (List.append_ne_nil_of_right_ne_nil current (List.cons_ne_nil byte []))
      rw [List.length_append] at longer
      exact ⟨raw, raws, found, by omega⟩

-- What one call answers, from the records that are left.
inductive Answered (limit size : Nat) : List Bytes → Except RpcError (Option (Bytes × Nat)) × List Bytes → Prop where
  | ended (chunks : List Bytes) : Answered limit size [] (.ok none, chunks)
  | refused (raw : Bytes) (raws : List Bytes) (error : RpcError) (chunks : List Bytes) (long : limit < raw.length) :
      Answered limit size (raw :: raws) (.error error, chunks)
  | read (raw : Bytes) (consumed : Nat) (chunks : List Bytes) (fits : raw.length ≤ limit) (shorter : chunks.flatten.length < size) :
      Answered limit size (raw :: rawRecords chunks.flatten) (.ok (some (raw, consumed)), chunks)

theorem fill_answered {chunks : List Bytes} {buffer : Bytes} {consumed size : Nat} (fits : buffer.length ≤ limit)
    (bound : chunks.flatten.length + buffer.length ≤ size) :
    Answered limit size (rawFrom buffer chunks.flatten) (fill limit buffer consumed chunks) := by
  fun_induction fill limit buffer consumed chunks with
  | case1 buffer consumed =>
    rw [List.flatten_nil, rawFrom]
    split
    · exact .ended []
    · rename_i started
      have positive := List.length_pos_iff.mpr started
      exact .read buffer consumed [] fits (by simp only [List.flatten_nil, List.length_nil] at bound ⊢; omega)
  | case2 buffer consumed chunks ih => exact ih fits bound
  | case3 buffer consumed byte bytes chunks available content long =>
    have held : (buffer ++ available.take content).length = buffer.length + content := by
      rw [List.length_append, List.length_take_of_le List.idxOf_le_length]
    rw [List.flatten_cons, raw_from_chunk]
    split
    · exact .refused _ _ _ _ (by rw [held]; exact long)
    · have started : buffer ++ available.take content ≠ [] := List.length_pos_iff.mp (by omega)
      obtain ⟨raw, raws, found, longer⟩ := raw_from_started started chunks.flatten
      rw [found]
      exact .refused _ _ _ _ (by omega)
  | case4 buffer consumed byte bytes chunks available content short broken =>
    rw [List.flatten_cons, raw_from_chunk, if_pos broken]
    refine .read _ _ (available.drop (content + 1) :: chunks) ?_ ?_
    · rw [List.length_append, List.length_take_of_le (Nat.le_of_lt broken)]
      omega
    · rw [List.flatten_cons, List.length_append] at bound ⊢
      have whole : available.length = (byte :: bytes).length := rfl
      rw [List.length_drop]
      omega
  | case5 buffer consumed byte bytes chunks available content short unbroken ih =>
    have held : (buffer ++ available.take content).length = buffer.length + content := by
      rw [List.length_append, List.length_take_of_le List.idxOf_le_length]
    have within : content ≤ (byte :: bytes).length := List.idxOf_le_length
    rw [List.flatten_cons, raw_from_chunk, if_neg unbroken]
    rw [List.flatten_cons, List.length_append] at bound
    exact ih (by omega) (by omega)

structure Reads (raws : List Bytes) (result : List Bytes × Option RpcError) : Prop where
  records : result.1 = (raws.takeWhile fun raw => decide (raw.length ≤ limit)).map withoutReturn
  refused : result.2.isSome = true ↔ ∃ raw ∈ raws, limit < raw.length

theorem read_all_reads {fuel : Nat} (reader : JsonlReader) (enough : reader.chunks.flatten.length < fuel) :
    Reads reader.maxRecordBytes (rawRecords reader.chunks.flatten) (readAll fuel reader) := by
  induction fuel generalizing reader with
  | zero => exact absurd enough (Nat.not_lt_zero _)
  | succ fuel ih =>
    have answered : Answered reader.maxRecordBytes reader.chunks.flatten.length (rawRecords reader.chunks.flatten)
        (fill reader.maxRecordBytes [] 0 reader.chunks) := fill_answered reader.maxRecordBytes (Nat.zero_le _) (Nat.le_refl _)
    rw [readAll, JsonlReader.nextRecord]
    generalize rawRecords reader.chunks.flatten = raws at answered ⊢
    generalize fill reader.maxRecordBytes [] 0 reader.chunks = answer at answered ⊢
    cases answered with
    | ended chunks => exact ⟨rfl, by simp⟩
    | refused raw raws error chunks long => exact ⟨by simp [Nat.not_le.mpr long], by simp [long]⟩
    | read raw consumed chunks fits shorter =>
      obtain ⟨records, errors⟩ := ih { reader with
        chunks := chunks
        totalBytes := reader.totalBytes + consumed
        frames := reader.frames + 1
        peakLineBytes := max reader.peakLineBytes (withoutReturn raw).length } (by dsimp only; omega)
      exact ⟨by simp [records, fits], by simp [errors, Nat.not_lt.mpr fits]⟩

theorem raw_records_written {records : List Bytes} (plain : ∀ record ∈ records, PlainLine record) :
    rawRecords (records.flatMap (· ++ [newline])) = records := by
  induction records with
  | nil => rfl
  | cons record records ih =>
    have ends : (record ++ [newline]).idxOf newline = record.length := by
      simp [List.idxOf_append_of_notMem (plain record List.mem_cons_self).unbroken]
    rw [List.flatMap_cons, rawRecords, raw_from_chunk, ends, if_pos (by simp), List.drop_of_length_le (by simp)]
    simp [ih fun later member => plain later (List.mem_cons_of_mem _ member)]

/-- Plain lines within the limit are read back record for record, however the pipe cuts what was written. -/
theorem written_records_read (reader : JsonlReader) (records : List Bytes) (plain : ∀ record ∈ records, PlainLine record)
    (short : ∀ record ∈ records, record.length ≤ reader.maxRecordBytes)
    (written : reader.chunks.flatten = records.flatMap (· ++ [newline])) (fuel : Nat)
    (enough : reader.chunks.flatten.length < fuel) : readAll fuel reader = (records, none) := by
  obtain ⟨read, refused⟩ := read_all_reads reader enough
  rw [written, raw_records_written plain] at read refused
  refine Prod.ext (read.trans ?_) (Option.not_isSome_iff_eq_none.mp fun isRefused => ?_)
  · rw [List.takeWhile_eq_self_iff.mpr (by simpa using short)]
    exact (List.map_congr_left fun record member => if_neg (plain record member).unreturned).trans (List.map_id _)
  · obtain ⟨raw, member, long⟩ := refused.mp isRefused
    exact absurd (short raw member) (Nat.not_le.mpr long)

theorem cut_record_read : readAll 4 ⟨[[97], [98, 10]], 2, 0, 0, 0⟩ = ([[97, 98]], none) :=
  written_records_read _ [[97, 98]] (List.forall_mem_singleton.mpr ⟨by decide, by decide, by decide⟩) (by decide) rfl 4 (by decide)

variable {pushed : Bytes} {tail : RetainedTail}

theorem push_keeps_last (bytes : Bytes) (kept : tail.data = pushed.drop (pushed.length - tail.limit)) :
    (tail.push bytes).limit = tail.limit ∧ (tail.push bytes).data = (pushed ++ bytes).drop ((pushed ++ bytes).length - tail.limit) := by
  rw [RetainedTail.push, List.length_append, List.drop_append]
  by_cases none : tail.limit = 0
  · simp [none, kept]
  by_cases long : tail.limit ≤ bytes.length
  · rw [if_neg none, if_pos long, List.drop_eq_nil_of_le (show pushed.length ≤ pushed.length + bytes.length - tail.limit by omega)]
    exact ⟨rfl, congrArg bytes.drop (by omega)⟩
  · rw [if_neg none, if_neg long]
    refine ⟨rfl, ?_⟩
    dsimp only
    rw [kept, List.length_drop, List.drop_drop, show pushed.length + bytes.length - tail.limit - pushed.length = 0 by omega, List.drop_zero]
    congr 2
    omega

theorem pushes_keep_last (pushes : List Bytes) (kept : tail.data = pushed.drop (pushed.length - tail.limit)) :
    (pushes.foldl RetainedTail.push tail).data = (pushed ++ pushes.flatten).drop ((pushed ++ pushes.flatten).length - tail.limit) := by
  induction pushes generalizing tail pushed with
  | nil => simpa using kept
  | cons bytes pushes ih =>
    obtain ⟨sameLimit, stillKept⟩ := push_keeps_last bytes kept
    rw [← sameLimit] at stillKept ⊢
    rw [List.flatten_cons, ← List.append_assoc]
    exact ih stillKept

theorem records_chunk_independent : (∀ (reader : JsonlReader) (fuel : Nat), reader.chunks.flatten.length < fuel →
      Reads reader.maxRecordBytes (rawRecords reader.chunks.flatten) (readAll fuel reader)) ∧
    ∀ (limit : Nat) (pushes : List Bytes), (pushes.foldl RetainedTail.push ⟨[], limit⟩).data =
      pushes.flatten.drop (pushes.flatten.length - min limit pushes.flatten.length) := by
  refine ⟨fun reader fuel enough => read_all_reads reader enough, ?_⟩
  intro limit pushes
  have kept : (pushes.foldl RetainedTail.push ⟨[], limit⟩).data =
    ([] ++ pushes.flatten).drop (([] ++ pushes.flatten).length - limit) := pushes_keep_last pushes List.drop_nil.symm
  rw [kept, List.nil_append]
  congr 1
  omega

end PiAutopilot.Runner
