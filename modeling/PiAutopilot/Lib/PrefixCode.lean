import PiAutopilot.Lib.Frames

set_option autoImplicit false

/-! # Codes whose values can be read off the front of a text -/

namespace PiAutopilot.Lib

def ReadsOff {α : Type} (valid : α → Prop) (encode : α → Bytes) : Prop :=
  ∀ left right leftRest rightRest, valid left → valid right → encode left ++ leftRest = encode right ++ rightRest →
    left = right ∧ leftRest = rightRest

def bigEndian64 (value : UInt64) : Bytes := bigEndian32 (value.toNat / 2 ^ 32) ++ bigEndian32 (value.toNat % 2 ^ 32)

theorem big_endian64_inj {left right : UInt64} {leftRest rightRest : Bytes}
    (same : bigEndian64 left ++ leftRest = bigEndian64 right ++ rightRest) : left = right ∧ leftRest = rightRest := by
  have leftBound := left.toNat_lt
  have rightBound := right.toNat_lt
  obtain ⟨number, rest⟩ := List.append_inj same rfl
  obtain ⟨high, low⟩ := List.append_inj number rfl
  have sameHigh := congrArg readBigEndian high
  have sameLow := congrArg readBigEndian low
  rw [read_big_endian32 (by omega), read_big_endian32 (by omega)] at sameHigh sameLow
  exact ⟨UInt64.toNat_inj.mp (by omega), rest⟩

def counted {α : Type} (encode : α → Bytes) (items : List α) : Bytes :=
  bigEndian64 (UInt64.ofNat items.length) ++ items.flatMap encode

section Lists

variable {α : Type} {valid : α → Prop} {encode : α → Bytes} {left right : List α} {leftRest rightRest : Bytes}

theorem items_read_off (readsOff : ReadsOff valid encode) (leftValid : ∀ item ∈ left, valid item)
    (rightValid : ∀ item ∈ right, valid item) (sameLength : left.length = right.length)
    (same : left.flatMap encode ++ leftRest = right.flatMap encode ++ rightRest) : left = right ∧ leftRest = rightRest := by
  induction left generalizing right with
  | nil =>
    cases right with
    | nil => exact ⟨rfl, same⟩
    | cons item items => cases sameLength
  | cons item items ih =>
    cases right with
    | nil => cases sameLength
    | cons other others =>
      rw [List.flatMap_cons, List.flatMap_cons, List.append_assoc, List.append_assoc] at same
      rw [List.forall_mem_cons] at leftValid rightValid
      obtain ⟨rfl, rest⟩ := readsOff _ _ _ _ leftValid.1 rightValid.1 same
      obtain ⟨rfl, ends⟩ := ih leftValid.2 rightValid.2 (Nat.succ.inj sameLength) rest
      exact ⟨rfl, ends⟩

theorem counted_read_off (readsOff : ReadsOff valid encode) (leftValid : ∀ item ∈ left, valid item)
    (rightValid : ∀ item ∈ right, valid item) (leftFits : left.length < 2 ^ 64) (rightFits : right.length < 2 ^ 64)
    (same : counted encode left ++ leftRest = counted encode right ++ rightRest) : left = right ∧ leftRest = rightRest := by
  obtain ⟨counts, rest⟩ := big_endian64_inj same
  have numbers := congrArg UInt64.toNat counts
  rw [UInt64.toNat_ofNat_of_lt' leftFits, UInt64.toNat_ofNat_of_lt' rightFits] at numbers
  exact items_read_off readsOff leftValid rightValid numbers rest

end Lists

end PiAutopilot.Lib
