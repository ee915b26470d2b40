import PiAutopilot.Lib.Bytes

set_option autoImplicit false

/-! # Payloads framed by their length -/

namespace PiAutopilot.Lib

theorem read_big_endian32 {value : Nat} (small : value < 2 ^ 32) : readBigEndian (bigEndian32 value) = value := by
  simp only [readBigEndian, bigEndian32, List.foldl_cons, List.foldl_nil, UInt8.toNat_ofNat']
  omega

theorem big_endian32_read (first second third fourth : UInt8) :
    bigEndian32 (readBigEndian [first, second, third, fourth]) = [first, second, third, fourth] := by
  have bounds := And.intro first.toNat_lt (And.intro second.toNat_lt (And.intro third.toNat_lt fourth.toNat_lt))
  simp only [readBigEndian, bigEndian32, List.foldl_cons, List.foldl_nil, List.cons.injEq, and_true, ← UInt8.toNat_inj, UInt8.toNat_ofNat']
  omega

def frame (payload : Bytes) : Bytes := bigEndian32 payload.length ++ payload

def frames (payloads : List Bytes) : Bytes := payloads.flatMap frame

@[simp] theorem frame_length (payload : Bytes) : (frame payload).length = 4 + payload.length := by
  rw [frame, List.length_append, bigEndian32, List.length_cons, List.length_cons, List.length_cons, List.length_singleton]

@[simp] theorem frames_nil : frames [] = [] := rfl

@[simp] theorem frames_cons (payload : Bytes) (payloads : List Bytes) :
    frames (payload :: payloads) = frame payload ++ frames payloads := rfl

@[simp] theorem frames_append (first second : List Bytes) : frames (first ++ second) = frames first ++ frames second := List.flatMap_append

theorem length_le_frames (payloads : List Bytes) : payloads.length ≤ (frames payloads).length := by
  induction payloads with
  | nil => exact Nat.le_refl _
  | cons payload payloads ih =>
    rw [frames_cons, List.length_append, frame_length, List.length_cons]
    omega

theorem frame_append_inj {left right : Bytes} {leftRest rightRest : Bytes} (leftFits : left.length < 2 ^ 32)
    (rightFits : right.length < 2 ^ 32) (same : frame left ++ leftRest = frame right ++ rightRest) :
    left = right ∧ leftRest = rightRest := by
  rw [frame, frame, List.append_assoc, List.append_assoc] at same
  obtain ⟨lengths, rest⟩ := List.append_inj same rfl
  have sameLength : left.length = right.length := by
    rw [← read_big_endian32 leftFits, lengths, read_big_endian32 rightFits]
  exact List.append_inj rest sameLength

theorem frames_append_inj (left right : List Bytes) (leftRest rightRest : Bytes)
    (leftFit : ∀ payload ∈ left, payload.length < 2 ^ 32) (rightFit : ∀ payload ∈ right, payload.length < 2 ^ 32)
    (same : frames left ++ leftRest = frames right ++ rightRest) (sameEnd : (frames left).length = (frames right).length) :
    left = right := by
  induction left generalizing right with
  | nil =>
    cases right with
    | nil => rfl
    | cons payload payloads =>
      rw [frames_cons, List.length_append, frame_length, frames_nil, List.length_nil] at sameEnd
      omega
  | cons payload payloads ih =>
    cases right with
    | nil =>
      rw [frames_cons, List.length_append, frame_length, frames_nil, List.length_nil] at sameEnd
      omega
    | cons other others =>
      rw [frames_cons, frames_cons, List.append_assoc, List.append_assoc] at same
      obtain ⟨rfl, rest⟩ := frame_append_inj (leftFit _ List.mem_cons_self) (rightFit _ List.mem_cons_self) same
      simp only [frames_cons, List.length_append, Nat.add_left_cancel_iff] at sameEnd
      rw [ih others (fun p member => leftFit p (List.mem_cons_of_mem _ member))
        (fun p member => rightFit p (List.mem_cons_of_mem _ member)) rest sameEnd]

end PiAutopilot.Lib
